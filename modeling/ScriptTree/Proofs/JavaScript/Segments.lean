import ScriptTree.JavaScript.Render
import ScriptTree.Proofs.Comment.Segments

/-!
# A printed program and its comments

A program is printed around gaps for its comments. The segments between the gaps do not depend on
the comments, and the printed program has placeholders in the gaps, numbered from the first to the
last: `code_programSegments`.
-/

namespace ScriptTree.JavaScript
set_option autoImplicit false
open Placeholder Text

/-! ## A placeholder as a statement -/

/-- Characters that stand for themselves in a string. -/
def isPlain (c : Char) : Bool :=
  c.isAlphanum || c == '_'

theorem stringChar_plain {c : Char} (plain : isPlain c = true) (rest : List Char) :
    stringChar c rest = [c] := by
  unfold stringChar
  split
  case h_14 => rfl
  all_goals exact absurd plain (by decide)

theorem stringChars_plain {cs : List Char} (plain : ∀ c ∈ cs, isPlain c = true) :
    stringChars cs = cs := by
  fun_induction stringChars cs with
  | case1 => rfl
  | case2 rest | case3 rest => exact absurd (plain '<' (by simp)) (by decide)
  | case4 c rest other ih =>
    rw [stringChar_plain (plain c (by simp)), ih fun d member => plain d (by simp [member])]
    rfl

theorem isPlain_of_mem_content {index : Nat} {c : Char} (member : c ∈ content index) :
    isPlain c = true := by
  unfold content at member
  rw [List.mem_append, List.mem_append] at member
  rcases member with (letter | digit) | underscore
  · have letters : "__estemplate_comment_".toList.all isPlain = true := by decide
    exact List.all_eq_true.1 letters c letter
  · simp [isPlain, Char.isAlphanum, isDigit_of_mem_decimalDigits digit]
  · have underscores : "__".toList.all isPlain = true := by decide
    exact List.all_eq_true.1 underscores c underscore

/-- A placeholder is printed as its spelling on a line. -/
theorem printExprStmt_placeholderExpr (indent index : Nat) (blank : Bool) :
    printExprStmt indent blank (placeholderExpr index) =
      tabs indent ++ ((spelled index).text ++ ['\n']) := by
  have quoted : stringChars (content index) = content index :=
    stringChars_plain fun c member => isPlain_of_mem_content member
  simp [printExprStmt, placeholderExpr, printExpr, Expr.isName, wrap, unaryText, UnaryOp.isWord,
    UnaryOp.symbol, stringLiteral, quoted, spelled_text, Level.unary, Level.lowest]

/-! ## Segments of statements -/

mutual

/-- The segments of a statement, before the segments that follow it. -/
def Stmt.segments (indent : Nat) (blank : Bool) (after : Segments) : Stmt → Segments
  | .expression e => after.prepend (printExprStmt indent blank e)
  | .declaration kind bindings => after.prepend (printDeclaration indent kind bindings)
  | .block body =>
    if body.isEmpty then after.prepend (tabs indent ++ ['\x7b', '\x7d', '\n'])
    else
      (Stmt.allSegments (indent + 1) (after.prepend (tabs indent ++ ['\x7d', '\n'])) body).prepend
        (tabs indent ++ ['\x7b', '\n'])
  | .comment _ => (after.prepend ['\n']).gap.prepend (tabs indent)

/-- The segments of statements, before the segments that follow them. -/
def Stmt.allSegments (indent : Nat) (after : Segments) : List Stmt → Segments
  | [] => after
  | s :: rest => s.segments indent false (Stmt.allSegments indent after rest)

end

/-- The segments of the first statement of a program, before the segments that follow it. -/
def firstSegments (after : Segments) : Stmt → Segments
  | .expression (.string s) => after.prepend (wrap true (stringLiteral s) ++ [';', '\n'])
  | s => s.segments 0 true after

/-- The segments of a program. -/
def programSegments : List Stmt → Segments
  | [] => ⟨[], []⟩
  | s :: rest => firstSegments (Stmt.allSegments 0 ⟨[], []⟩ rest) s

mutual

/-- There is a gap for each comment. -/
theorem Stmt.length_segments (indent : Nat) (blank : Bool) (after : Segments) (s : Stmt) :
    (s.segments indent blank after).rest.length = s.comments.length + after.rest.length := by
  cases s with
  | expression e => simp [segments, comments, Segments.prepend]
  | declaration kind bindings => simp [segments, comments, Segments.prepend]
  | block body =>
    cases body with
    | nil => simp [segments, comments, allComments, Segments.prepend]
    | cons s rest =>
      have inner := Stmt.length_allSegments (indent + 1)
        (after.prepend (tabs indent ++ ['\x7d', '\n'])) (s :: rest)
      simpa [segments, comments, Segments.prepend] using inner
  | comment c => simp [segments, comments, Segments.prepend, Segments.gap, Nat.add_comm]

theorem Stmt.length_allSegments (indent : Nat) (after : Segments) (stmts : List Stmt) :
    (allSegments indent after stmts).rest.length =
      (allComments stmts).length + after.rest.length := by
  cases stmts with
  | nil => simp [allSegments, allComments]
  | cons s rest =>
    rw [allSegments, Stmt.length_segments, Stmt.length_allSegments indent after rest]
    simp [allComments, Nat.add_assoc]

end

mutual

/-- A statement is printed with placeholders in its gaps. -/
theorem Stmt.fill_segments (indent next : Nat) (blank : Bool) (after : Segments)
    (texts : List (List Char)) (s : Stmt) :
    (s.segments indent blank after).fill (placeholders next s.comments.length ++ texts) =
      printStmt indent next blank s ++ after.fill texts := by
  cases s with
  | expression e => simp [segments, comments, placeholders, printStmt]
  | declaration kind bindings => simp [segments, comments, placeholders, printStmt]
  | block body =>
    cases body with
    | nil => simp [segments, comments, allComments, placeholders, printStmt]
    | cons s rest =>
      have inner := Stmt.fill_allSegments (indent + 1) next
        (after.prepend (tabs indent ++ ['\x7d', '\n'])) texts (s :: rest)
      simp [segments, comments, printStmt, inner]
  | comment c =>
    rw [printStmt, printExprStmt_placeholderExpr]
    simp [segments, comments, placeholders]

/-- Statements are printed with placeholders in their gaps. -/
theorem Stmt.fill_allSegments (indent next : Nat) (after : Segments) (texts : List (List Char))
    (stmts : List Stmt) :
    (allSegments indent after stmts).fill (placeholders next (allComments stmts).length ++ texts) =
      printStmts indent next stmts ++ after.fill texts := by
  cases stmts with
  | nil => simp [allSegments, allComments, placeholders, printStmts]
  | cons s rest =>
    rw [allSegments, allComments, List.length_append, placeholders_add, List.append_assoc,
      Stmt.fill_segments, Stmt.fill_allSegments indent (next + s.comments.length) after texts rest,
      printStmts, List.append_assoc]

end

theorem length_programSegments (program : List Stmt) :
    (programSegments program).rest.length = (Stmt.allComments program).length := by
  cases program with
  | nil => rfl
  | cons s rest =>
    rw [programSegments, Stmt.allComments, List.length_append]
    have after := Stmt.length_allSegments 0 ⟨[], []⟩ rest
    unfold firstSegments
    split
    · simpa [Stmt.comments, Segments.prepend] using after
    · rw [Stmt.length_segments, after]
      rfl

/-- The first statement is printed with placeholders in its gaps. -/
theorem fill_firstSegments (after : Segments) (texts : List (List Char)) (s : Stmt) :
    (firstSegments after s).fill (placeholders 0 s.comments.length ++ texts) =
      printFirst s ++ after.fill texts := by
  unfold firstSegments
  split
  · simp [Stmt.comments, placeholders, printFirst]
  · rename_i other
    rw [Stmt.fill_segments, printFirst.eq_2 s other]

/-- **A printed program has its placeholders between its segments.** -/
theorem code_programSegments (program : List Stmt) :
    (programSegments program).code 0 = printProgram program := by
  rw [Segments.code, length_programSegments]
  cases program with
  | nil => rfl
  | cons s rest =>
    have after := Stmt.fill_allSegments 0 s.comments.length ⟨[], []⟩ [] rest
    rw [List.append_nil] at after
    rw [Stmt.allComments, List.length_append, placeholders_add, Nat.zero_add, programSegments,
      fill_firstSegments, after, printProgram]
    simp [Segments.fill]

end ScriptTree.JavaScript
