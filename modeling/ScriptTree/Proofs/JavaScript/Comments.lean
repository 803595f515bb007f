import ScriptTree.Proofs.Except
import ScriptTree.Proofs.JavaScript.Segments

/-!
# The comments of a rendered tree

The placeholder of each comment is found where it was printed, whatever names and strings stand
around it, so a tree is refused just if its text has a placeholder too many:
`Node.render_iff_occurrences`. In a tree that is rendered, the texts of the comments stand between
segments that do not depend on them: `Node.render_segments`.
-/

namespace ScriptTree
set_option autoImplicit false
open Placeholder JavaScript

/-! ## Placeholders too many -/

namespace JavaScript

/-- The places of the placeholders that a program is printed with. -/
def programMarks (program : List Stmt) : List Occurrence :=
  Segments.marks 0 0 (programSegments program).first (programSegments program).rest

theorem length_programMarks (program : List Stmt) :
    (programMarks program).length = (Stmt.allComments program).length := by
  rw [programMarks, Segments.length_marks, length_programSegments]

theorem getElem?_programMarks {program : List Stmt} {i : Nat}
    (inside : i < (Stmt.allComments program).length) :
    ∃ before after, printProgram program = before ++ ((spelled i).text ++ after) ∧
      (programMarks program)[i]? = some ((spelled i).at before.length) := by
  rw [← length_programSegments] at inside
  rw [← code_programSegments]
  simpa [programMarks] using
    Segments.getElem?_marks 0 0 (programSegments program).first inside

theorem programMarks_sublist (program : List Stmt) :
    List.Sublist (programMarks program) (occurrences 0 (printProgram program)) := by
  rw [← code_programSegments]
  exact Segments.marks_sublist_occurrences 0 0 _ _

/-- A program is rendered if its text has a placeholder for each comment and no more. -/
theorem renderProgram_eq (program : List Stmt) :
    renderProgram program =
      if (occurrences 0 (printProgram program)).length = (Stmt.allComments program).length ∧
          (Stmt.allComments program).length ≤ 2 ^ 64 then
        .ok ((programSegments program).fill ((Stmt.allComments program).map Comment.text))
      else
        .error ⟨(occurrences 0 (printProgram program)).length,
          (Stmt.allComments program).length⟩ := by
  rw [renderProgram, ← code_programSegments]
  exact restore_code _ (length_programSegments program).symm

end JavaScript

theorem Node.render_of_program {t : Node} {stmts : List Stmt}
    (lowered : programOfTree t = .ok stmts) (out : String) :
    t.render = .ok out ↔ renderProgram stmts = .ok out.toList := by
  unfold render
  rw [lowered]
  dsimp only
  cases renderProgram stmts with
  | error c => simp
  | ok cs =>
    simp only [Except.ok.injEq]
    exact ⟨fun same => by rw [← same, String.toList_ofList], fun same => by
      rw [same, String.ofList_toList]⟩

/-- A tree is rendered just if its text has a placeholder for each comment and no more. -/
theorem Node.exists_render_iff {t : Node} {stmts : List Stmt}
    (lowered : programOfTree t = .ok stmts) :
    (∃ out, t.render = .ok out) ↔
      (occurrences 0 (printProgram stmts)).length = (Stmt.allComments stmts).length ∧
        (Stmt.allComments stmts).length ≤ 2 ^ 64 := by
  simp only [Node.render_of_program lowered, renderProgram_eq]
  constructor
  · rintro ⟨out, rendered⟩
    split at rendered
    · assumption
    · cases rendered
  · intro fits
    exact ⟨String.ofList _, by rw [if_pos fits, String.toList_ofList]⟩

/-- **Placeholders too many are detected exactly.** A program is printed with a placeholder for each
comment in turn, and each of them is found in its place; no two placeholders that are found share a
character. The tree is rendered just if nothing else is found, and then what is found are these
placeholders. The number of comments is a word of 64 bits. -/
theorem Node.render_iff_occurrences {t : Node} {stmts : List Stmt}
    (lowered : programOfTree t = .ok stmts) :
    let count := (Stmt.allComments stmts).length
    let found := occurrences 0 (printProgram stmts)
    printProgram stmts = (programSegments stmts).fill (placeholders 0 count) ∧
      (∀ i < count, ∃ before after,
        printProgram stmts = before ++ ((spelled i).text ++ after) ∧
          (programMarks stmts)[i]? = some ((spelled i).at before.length)) ∧
      List.Sublist (programMarks stmts) found ∧
      found.Pairwise (fun a b => a.start + a.length ≤ b.start) ∧
      (count ≤ 2 ^ 64 → ((∃ out, t.render = .ok out) ↔ found.length = count)) ∧
      (found.length = count → found = programMarks stmts) := by
  intro count found
  refine ⟨?_, fun i inside => getElem?_programMarks inside, programMarks_sublist stmts,
    pairwise_occurrences 0 _, ?_, ?_⟩
  · rw [← code_programSegments, Segments.code, length_programSegments]
  · intro bound
    rw [Node.exists_render_iff lowered]
    exact and_iff_left bound
  · intro exact
    have same := (programMarks_sublist stmts).eq_of_length
      ((length_programMarks stmts).trans exact.symm)
    exact same.symm

/-- A tree with two comments before a string. -/
def commentedTree (first second : Comment) (text : String) : Node :=
  .program
    [.comment first, .block [.comment second], .statement (.literal (.string text) text none)]
    .script

theorem Node.render_iff_occurrences_commentedTree :
    let tree (text : String) := commentedTree ⟨"Line", "1"⟩ ⟨"Block", "2"⟩ text
    (∃ stmts, programOfTree (tree "void __estemplate_comment_0__;") = .ok stmts) ∧
      (∃ out, (tree "void __estemplate_comment_0__;").render = .ok out) ∧
      ¬ ∃ out, (tree "void '__estemplate_comment_0__';").render = .ok out := by
  intro tree
  have kept := (Node.render_iff_occurrences
    (t := tree "void __estemplate_comment_0__;") rfl).2.2.2.2.1 (by decide)
  have refused := (Node.render_iff_occurrences
    (t := tree "void '__estemplate_comment_0__';") rfl).2.2.2.2.1 (by decide)
  exact ⟨⟨_, rfl⟩, kept.2 (by decide +kernel), fun rendered =>
    absurd (refused.1 rendered) (by decide +kernel)⟩

/-! ## Comments and the text around them -/

mutual

/-- The comments that stand in the place of a statement, in order. -/
def Node.statementComments : Node → List Comment
  | .block body => allStatementComments body
  | .comment c => [c]
  | _ => []

/-- The same for the statements of a list. -/
def Node.allStatementComments : List Node → List Comment
  | [] => []
  | n :: rest => n.statementComments ++ allStatementComments rest

end

/-- The comments of a tree that stand among the statements of its body and of nested blocks. -/
def Node.programComments : Node → List Comment
  | .program body _ => allStatementComments body
  | n => n.statementComments

mutual

/-- The statement with its comments emptied. -/
def Node.eraseStatement : Node → Node
  | .block body => .block (eraseStatements body)
  | .comment _ => .comment ⟨"", ""⟩
  | n => n

/-- The same for the statements of a list. -/
def Node.eraseStatements : List Node → List Node
  | [] => []
  | n :: rest => n.eraseStatement :: eraseStatements rest

end

/-- The tree with the comments among its statements emptied. -/
def Node.eraseComments : Node → Node
  | .program body sourceType => .program (eraseStatements body) sourceType
  | n => n.eraseStatement

mutual

theorem Node.statementComments_eraseStatement (n : Node) :
    n.eraseStatement.statementComments.length = n.statementComments.length := by
  cases n with
  | block body =>
    exact Node.allStatementComments_eraseStatements body
  | _ => rfl

theorem Node.allStatementComments_eraseStatements (ns : List Node) :
    (allStatementComments (eraseStatements ns)).length = (allStatementComments ns).length := by
  cases ns with
  | nil => rfl
  | cons n rest =>
    rw [eraseStatements, allStatementComments, allStatementComments, List.length_append,
      List.length_append, Node.statementComments_eraseStatement n,
      Node.allStatementComments_eraseStatements rest]

end

theorem Node.length_programComments_eraseComments (t : Node) :
    t.eraseComments.programComments.length = t.programComments.length := by
  cases t with
  | program body sourceType => exact allStatementComments_eraseStatements body
  | block body => exact allStatementComments_eraseStatements body
  | _ => rfl

namespace JavaScript

mutual

/-- The statement with its comments emptied. -/
def Stmt.erase : Stmt → Stmt
  | .block body => .block (Stmt.eraseAll body)
  | .comment _ => .comment ⟨"", ""⟩
  | s => s

/-- The same for the statements of a list. -/
def Stmt.eraseAll : List Stmt → List Stmt
  | [] => []
  | s :: rest => s.erase :: Stmt.eraseAll rest

end

mutual

theorem Stmt.segments_erase (indent : Nat) (blank : Bool) (after : Segments) (s : Stmt) :
    s.erase.segments indent blank after = s.segments indent blank after := by
  cases s with
  | expression e => rfl
  | declaration kind bindings => rfl
  | comment c => rfl
  | block body =>
    have empty : (eraseAll body).isEmpty = body.isEmpty := by cases body <;> rfl
    rw [erase, segments, segments, empty, Stmt.allSegments_eraseAll]

theorem Stmt.allSegments_eraseAll (indent : Nat) (after : Segments) (stmts : List Stmt) :
    allSegments indent after (eraseAll stmts) = allSegments indent after stmts := by
  cases stmts with
  | nil => rfl
  | cons s rest =>
    rw [eraseAll, allSegments, allSegments, Stmt.segments_erase, Stmt.allSegments_eraseAll]

end

/-- The segments of a program do not depend on its comments. -/
theorem programSegments_eraseAll (program : List Stmt) :
    programSegments (Stmt.eraseAll program) = programSegments program := by
  cases program with
  | nil => rfl
  | cons s rest =>
    rw [Stmt.eraseAll, programSegments, programSegments, Stmt.allSegments_eraseAll]
    cases s with
    | expression e => rfl
    | declaration kind bindings => rfl
    | comment c => rfl
    | block body => exact Stmt.segments_erase 0 true _ (.block body)

/-! ### Statements of a tree -/

theorem map_erase {α : Type} (make : α → Stmt) (kept : ∀ a, (make a).erase = make a)
    (x : Checked α) :
    (x >>= fun a => pure (make a)).map Stmt.erase = x >>= fun a => pure (make a) := by
  cases x with
  | error f => rfl
  | ok a => exact congrArg Except.ok (kept a)

mutual

/-- Emptied comments stay comments when a tree becomes a program. -/
theorem Stmt.ofNode_eraseStatement (n : Node) :
    Stmt.ofNode n.eraseStatement = (Stmt.ofNode n).map Stmt.erase := by
  cases n with
  | block body =>
    rw [Node.eraseStatement, ofNode, ofNode, Stmt.ofNodes_eraseStatements body]
    cases Stmt.ofNodes body <;> rfl
  | comment c => rfl
  | program body sourceType => rfl
  | declaration ds kind =>
    exact (map_erase (fun bindings => .declaration kind bindings) (fun _ => rfl)
      (bindingsOfDeclarators ds)).symm
  | _ =>
    exact (map_erase (fun e => .expression e) (fun _ => rfl) (Expr.ofNode _)).symm

theorem Stmt.ofNodes_eraseStatements (ns : List Node) :
    Stmt.ofNodes (Node.eraseStatements ns) = (Stmt.ofNodes ns).map Stmt.eraseAll := by
  cases ns with
  | nil => rfl
  | cons n rest =>
    rw [Node.eraseStatements, ofNodes, ofNodes, Stmt.ofNode_eraseStatement n,
      Stmt.ofNodes_eraseStatements rest]
    cases Stmt.ofNode n <;> cases Stmt.ofNodes rest <;> rfl

end

mutual

/-- The comments of a statement are those of its node. -/
theorem Stmt.comments_of_ofNode {n : Node} {s : Stmt} (made : Stmt.ofNode n = .ok s) :
    s.comments = n.statementComments := by
  cases n with
  | block body =>
    rw [ofNode, bind_eq_ok] at made
    obtain ⟨stmts, inner, last⟩ := made
    cases last
    exact Stmt.allComments_of_ofNodes inner
  | comment c =>
    cases made
    rfl
  | program body sourceType => cases made
  | declaration ds kind =>
    rw [ofNode, bind_eq_ok] at made
    obtain ⟨bindings, _, last⟩ := made
    cases last
    rfl
  | _ =>
    obtain ⟨e, _, last⟩ := bind_eq_ok.1 made
    cases last
    rfl

theorem Stmt.allComments_of_ofNodes {ns : List Node} {stmts : List Stmt}
    (made : Stmt.ofNodes ns = .ok stmts) : allComments stmts = Node.allStatementComments ns := by
  cases ns with
  | nil =>
    cases made
    rfl
  | cons n rest =>
    rw [ofNodes, bind_eq_ok] at made
    obtain ⟨s, first, made⟩ := made
    obtain ⟨more, others, last⟩ := bind_eq_ok.1 made
    cases last
    rw [allComments, Node.allStatementComments, Stmt.comments_of_ofNode first,
      Stmt.allComments_of_ofNodes others]

end

end JavaScript

/-- A tree with its comments emptied becomes the same program, with its comments emptied. -/
theorem programOfTree_eraseComments (t : Node) :
    programOfTree t.eraseComments = (programOfTree t).map Stmt.eraseAll := by
  cases t with
  | program body sourceType => exact Stmt.ofNodes_eraseStatements body
  | _ =>
    rw [Node.eraseComments.eq_2 _ (by simp), programOfTree.eq_2 _ (by simp [Node.eraseStatement]),
      programOfTree.eq_2 _ (by simp), Stmt.ofNode_eraseStatement]
    cases Stmt.ofNode _ <;> rfl

theorem allComments_of_programOfTree {t : Node} {stmts : List Stmt}
    (lowered : programOfTree t = .ok stmts) : Stmt.allComments stmts = t.programComments := by
  cases t with
  | program body sourceType => exact Stmt.allComments_of_ofNodes lowered
  | _ =>
    rw [programOfTree.eq_2 _ (by simp), bind_eq_ok] at lowered
    obtain ⟨s, made, last⟩ := lowered
    cases last
    rw [Node.programComments.eq_2 _ (by simp), ← Stmt.comments_of_ofNode made]
    exact List.append_nil _

/-- A tree that differs in its comments alone becomes a program with the same segments. -/
theorem programOfTree_congr {t u : Node} {stmts : List Stmt}
    (same : u.eraseComments = t.eraseComments) (lowered : programOfTree t = .ok stmts) :
    ∃ stmts', programOfTree u = .ok stmts' ∧ programSegments stmts' = programSegments stmts := by
  have erased := congrArg programOfTree same
  rw [programOfTree_eraseComments, programOfTree_eraseComments, lowered] at erased
  cases other : programOfTree u with
  | error f =>
    rw [other] at erased
    cases erased
  | ok stmts' =>
    rw [other] at erased
    refine ⟨stmts', rfl, ?_⟩
    rw [← programSegments_eraseAll stmts', Except.ok.inj erased, programSegments_eraseAll]

/-- What is rendered has the comments of the tree in the gaps of its program. -/
theorem Node.render_fill {t : Node} {stmts : List Stmt} {out : String}
    (lowered : programOfTree t = .ok stmts) (rendered : t.render = .ok out) :
    out.toList = (programSegments stmts).fill (t.programComments.map Comment.text) := by
  have fits := (Node.exists_render_iff lowered).1 ⟨out, rendered⟩
  rw [Node.render_of_program lowered, renderProgram_eq, if_pos fits] at rendered
  rw [← allComments_of_programOfTree lowered]
  exact (Except.ok.inj rendered).symm

/-- **Comments are inert.** There are segments around the comments of a tree such that, with any
other comments in their places, the tree is rendered if and only if it was before, and then as the
segments with the texts of the comments between them. -/
theorem Node.render_segments (t : Node) :
    ∃ segments : Segments, segments.rest.length = t.programComments.length ∧
      ∀ u : Node, u.eraseComments = t.eraseComments →
        u.programComments.length = t.programComments.length ∧
        ((∃ out, u.render = .ok out) ↔ ∃ out, t.render = .ok out) ∧
        ∀ out, u.render = .ok out →
          out.toList = segments.fill (u.programComments.map Comment.text) := by
  have counted (u : Node) (same : u.eraseComments = t.eraseComments) :
      u.programComments.length = t.programComments.length := by
    rw [← length_programComments_eraseComments u, same, length_programComments_eraseComments]
  cases lowered : programOfTree t with
  | error f =>
    refine ⟨⟨[], List.replicate t.programComments.length []⟩, by simp, fun u same => ?_⟩
    cases other : programOfTree u with
    | error g => simp [counted u same, render, lowered, other]
    | ok stmts =>
      obtain ⟨_, made, _⟩ := programOfTree_congr same.symm other
      cases lowered.symm.trans made
  | ok stmts =>
    refine ⟨programSegments stmts, ?_, fun u same => ⟨counted u same, ?_⟩⟩
    · rw [length_programSegments, allComments_of_programOfTree lowered]
    · obtain ⟨stmts', other, segments⟩ := programOfTree_congr same lowered
      have printed : printProgram stmts' = printProgram stmts := by
        rw [← code_programSegments, ← code_programSegments, segments]
      have gaps : (Stmt.allComments stmts').length = (Stmt.allComments stmts).length := by
        rw [← length_programSegments, ← length_programSegments, segments]
      refine ⟨?_, fun out rendered => ?_⟩
      · rw [exists_render_iff other, exists_render_iff lowered, printed, gaps]
      · rw [render_fill other rendered, segments]

theorem Node.render_segments_commentedTree :
    let plain := commentedTree ⟨"Line", "1"⟩ ⟨"Block", "2"⟩ "x"
    let hostile := commentedTree ⟨"Line", "void \"__estemplate_comment_1__\";"⟩ ⟨"Block", "*/"⟩ "x"
    ∃ segments : Segments, segments.rest.length = plain.programComments.length ∧
      hostile.eraseComments = plain.eraseComments ∧
      ∃ out, hostile.render = .ok out ∧
        out.toList = segments.fill
          ["//void \"__estemplate_comment_1__\";".toList, "/** /*/".toList] := by
  intro plain hostile
  obtain ⟨segments, gaps, replaced⟩ := Node.render_segments plain
  have same : hostile.eraseComments = plain.eraseComments := rfl
  have texts : hostile.programComments.map Comment.text =
      ["//void \"__estemplate_comment_1__\";".toList, "/** /*/".toList] := by decide
  have rendered : hostile.render = .ok
      "//void \"__estemplate_comment_1__\";\n\x7b\n\t/** /*/\n\x7d\n\"x\";\n" := by decide +kernel
  refine ⟨segments, gaps, same, _, rendered, ?_⟩
  rw [← texts]
  exact (replaced hostile same).2.2 _ rendered

end ScriptTree
