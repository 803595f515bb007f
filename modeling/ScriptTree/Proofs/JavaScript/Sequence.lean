import ScriptTree.Proofs.Comment.Seams
import ScriptTree.Proofs.JavaScript.Comments
import ScriptTree.Proofs.JavaScript.Opening

/-!
# Statements one after the other

Each statement is printed as a closed text, so a list of statements is rendered from the texts of
its parts, although the comments of the second part have other numbers then
(`renderProgram_append`). Only the first statement of a program is printed otherwise than the rest:
`renderRest` is the text of statements that follow others. So two trees are put together by putting
their texts together (`Node.render_append`), and a comment among the statements of a tree adds its
own line and changes nothing else (`Node.render_insert_comment_iff`), but for what follows from the
rules on a first statement.
-/

namespace ScriptTree
set_option autoImplicit false
open Placeholder JavaScript

namespace JavaScript

/-! ## Closed texts of statements -/

theorem closed_semicolon (before : List Char) : Closed (before ++ [';', '\n']) :=
  ⟨before, ';', ['\n'], rfl, .inl rfl, by simp⟩

theorem closed_printExprStmt (indent : Nat) (blank : Bool) (e : Expr) :
    Closed (printExprStmt indent blank e) := by
  unfold printExprStmt
  split
  · exact ⟨_, ';', [], rfl, .inl rfl, by simp⟩
  · exact closed_semicolon _

theorem closed_printStmt (indent next : Nat) (blank : Bool) (s : Stmt) :
    Closed (printStmt indent next blank s) := by
  cases s with
  | expression e => exact closed_printExprStmt indent blank e
  | declaration kind bindings => exact closed_semicolon _
  | comment c => exact closed_printExprStmt indent blank _
  | block body =>
    rw [printStmt]
    cases body with
    | nil => exact ⟨tabs indent ++ ['\x7b'], '\x7d', ['\n'], by simp, .inr rfl, by simp⟩
    | cons s rest =>
      refine ⟨tabs indent ++ ("\x7b\n".toList ++ printStmts (indent + 1) next (s :: rest) ++
        tabs indent), '\x7d', ['\n'], ?_, .inr rfl, by simp⟩
      simp

theorem closed_printFirst (s : Stmt) : Closed (printFirst s) := by
  unfold printFirst
  split
  · exact closed_semicolon _
  · exact closed_printStmt 0 0 true s

theorem closed_printStmts (indent next : Nat) {stmts : List Stmt} (some : stmts ≠ []) :
    Closed (printStmts indent next stmts) := by
  induction stmts generalizing next with
  | nil => exact absurd rfl some
  | cons s rest ih =>
    rw [printStmts]
    cases rest with
    | nil =>
      rw [printStmts, List.append_nil]
      exact closed_printStmt indent next false s
    | cons s' rest => exact (ih _ (by simp)).append _

theorem sealed_printStmts (indent next : Nat) (stmts : List Stmt) :
    Sealed (printStmts indent next stmts) := by
  cases stmts with
  | nil =>
    intro s left right inside _ _
    exact List.suffix_nil.1 inside
  | cons s rest => exact (closed_printStmts indent next (by simp)).sealed

theorem sealed_printProgram (program : List Stmt) : Sealed (printProgram program) := by
  cases program with
  | nil => exact sealed_printStmts 0 0 []
  | cons s rest =>
    rw [printProgram]
    cases rest with
    | nil =>
      rw [printStmts, List.append_nil]
      exact (closed_printFirst s).sealed
    | cons s' rest => exact ((closed_printStmts 0 _ (by simp)).append _).sealed

/-! ## Segments of statements one after the other -/

mutual

theorem Stmt.segments_append (indent : Nat) (blank : Bool) (middle after : Segments) (s : Stmt) :
    s.segments indent blank (middle.append after) =
      (s.segments indent blank middle).append after := by
  cases s with
  | expression e => simp only [segments, Segments.prepend_append]
  | declaration kind bindings => simp only [segments, Segments.prepend_append]
  | comment c => simp only [segments, Segments.prepend_append, Segments.gap_append]
  | block body =>
    have inner := Stmt.allSegments_append (indent + 1)
      (middle.prepend (tabs indent ++ ['\x7d', '\n'])) after body
    rw [Segments.prepend_append] at inner
    rw [segments, segments]
    split
    · rw [Segments.prepend_append]
    · rw [inner, Segments.prepend_append]

theorem Stmt.allSegments_append (indent : Nat) (middle after : Segments) (stmts : List Stmt) :
    allSegments indent (middle.append after) stmts =
      (allSegments indent middle stmts).append after := by
  cases stmts with
  | nil => rfl
  | cons s rest =>
    rw [allSegments, allSegments, Stmt.allSegments_append indent middle after rest,
      Stmt.segments_append]

end

/-- The segments of statements that follow others. -/
def restSegments (stmts : List Stmt) : Segments :=
  Stmt.allSegments 0 ⟨[], []⟩ stmts

theorem allSegments_eq (after : Segments) (stmts : List Stmt) :
    Stmt.allSegments 0 after stmts = (restSegments stmts).append after := by
  rw [restSegments, ← Stmt.allSegments_append, Segments.nil_append]

theorem allSegments_concat (after : Segments) (a b : List Stmt) :
    Stmt.allSegments 0 after (a ++ b) = Stmt.allSegments 0 (Stmt.allSegments 0 after b) a := by
  induction a with
  | nil => rfl
  | cons s rest ih => rw [List.cons_append, Stmt.allSegments, Stmt.allSegments, ih]

theorem restSegments_append (a b : List Stmt) :
    restSegments (a ++ b) = (restSegments a).append (restSegments b) := by
  rw [restSegments, allSegments_concat, allSegments_eq]
  rfl

theorem firstSegments_append (middle after : Segments) (s : Stmt) :
    firstSegments (middle.append after) s = (firstSegments middle s).append after := by
  unfold firstSegments
  split
  · rw [Segments.prepend_append]
  · exact Stmt.segments_append 0 true middle after s

theorem programSegments_append {a : List Stmt} (some : a ≠ []) (b : List Stmt) :
    programSegments (a ++ b) = (programSegments a).append (restSegments b) := by
  cases a with
  | nil => exact absurd rfl some
  | cons s rest =>
    rw [List.cons_append, programSegments, programSegments, ← firstSegments_append,
      allSegments_concat, allSegments_eq]
    rfl

theorem length_restSegments (stmts : List Stmt) :
    (restSegments stmts).rest.length = (Stmt.allComments stmts).length := by
  rw [restSegments, Stmt.length_allSegments]
  rfl

theorem code_restSegments (next : Nat) (stmts : List Stmt) :
    (restSegments stmts).code next = printStmts 0 next stmts := by
  have filled := Stmt.fill_allSegments 0 next ⟨[], []⟩ [] stmts
  rw [List.append_nil] at filled
  rw [Segments.code, length_restSegments, restSegments, filled]
  simp [Segments.fill]

theorem allComments_append (a b : List Stmt) :
    Stmt.allComments (a ++ b) = Stmt.allComments a ++ Stmt.allComments b := by
  induction a with
  | nil => rfl
  | cons s rest ih => rw [List.cons_append, Stmt.allComments, Stmt.allComments, ih,
      List.append_assoc]

/-! ## Texts of statements one after the other -/

/-- The text of statements that follow others. -/
def renderRest (stmts : List Stmt) : Except Collision (List Char) :=
  restore (printStmts 0 0 stmts) (Stmt.allComments stmts)

theorem renderProgram_eq_restore (program : List Stmt) :
    renderProgram program =
      restore ((programSegments program).code 0) (Stmt.allComments program) := by
  rw [renderProgram, code_programSegments]

theorem renderRest_eq_restore (stmts : List Stmt) :
    renderRest stmts = restore ((restSegments stmts).code 0) (Stmt.allComments stmts) := by
  rw [renderRest, code_restSegments]

/-- **Statements after others.** A program is rendered if its two parts are, and then as the text of
the first part and that of the second one, which follows it. -/
theorem renderProgram_append {a b : List Stmt} (some : a ≠ [])
    (bound : (Stmt.allComments (a ++ b)).length ≤ 2 ^ 64) (out : List Char) :
    renderProgram (a ++ b) = .ok out ↔
      ∃ x y, renderProgram a = .ok x ∧ renderRest b = .ok y ∧ out = x ++ y := by
  have sealed : Sealed ((programSegments a).code 0) := by
    rw [code_programSegments]
    exact sealed_printProgram a
  rw [allComments_append, List.length_append] at bound
  rw [renderProgram_eq_restore, renderProgram_eq_restore, renderRest_eq_restore,
    programSegments_append some, allComments_append]
  exact restore_append sealed (length_programSegments a).symm (length_restSegments b).symm bound out

/-- The same for statements that all follow others. -/
theorem renderRest_append {a b : List Stmt} (bound : (Stmt.allComments (a ++ b)).length ≤ 2 ^ 64)
    (out : List Char) :
    renderRest (a ++ b) = .ok out ↔
      ∃ x y, renderRest a = .ok x ∧ renderRest b = .ok y ∧ out = x ++ y := by
  have sealed : Sealed ((restSegments a).code 0) := by
    rw [code_restSegments]
    exact sealed_printStmts 0 0 a
  rw [allComments_append, List.length_append] at bound
  rw [renderRest_eq_restore, renderRest_eq_restore, renderRest_eq_restore, restSegments_append,
    allComments_append]
  exact restore_append sealed (length_restSegments a).symm (length_restSegments b).symm bound out

/-! ## The first statements of a program -/

/-- Whether the first of some statements is a string. -/
def Stmt.startsWithString : List Stmt → Bool
  | [] => false
  | s :: _ => s.isString

/-- Whether the first of some statements opens with a dot that has nothing before it. -/
def Stmt.startsWithDot : List Stmt → Bool
  | [] => false
  | s :: _ => s.opensWithDot

theorem printProgram_eq {stmts : List Stmt} (noString : Stmt.startsWithString stmts = false) :
    printProgram stmts = spaceIf (Stmt.startsWithDot stmts) ++ printStmts 0 0 stmts := by
  cases stmts with
  | nil => rfl
  | cons s rest =>
    rw [printProgram, printFirst_eq noString, printStmts, Nat.zero_add, List.append_assoc]
    rfl

/-- Statements that do not start with a string are rendered alike at the head of a program and
behind others, but for the space before a dot. -/
theorem renderProgram_eq_ok_iff_rest {stmts : List Stmt}
    (noString : Stmt.startsWithString stmts = false) (out : List Char) :
    renderProgram stmts = .ok out ↔
      ∃ y, renderRest stmts = .ok y ∧ out = spaceIf (Stmt.startsWithDot stmts) ++ y := by
  rw [renderProgram, printProgram_eq noString]
  cases Stmt.startsWithDot stmts with
  | false => simp [spaceIf, renderRest]
  | true =>
    have spaced := restore_space (printStmts 0 0 stmts) (Stmt.allComments stmts)
    simp only [spaceIf, if_true, List.singleton_append, spaced]
    change (renderRest stmts).map _ = _ ↔ _
    cases renderRest stmts with
    | error c => simp [Except.map]
    | ok y =>
      constructor
      · intro same
        exact ⟨y, rfl, (Except.ok.inj same).symm⟩
      · rintro ⟨y', same, rfl⟩
        rw [Except.ok.inj same]
        rfl

theorem Stmt.eq_of_isString {s : Stmt} (string : s.isString = true) :
    ∃ text, s = .expression (.string text) := by
  cases s with
  | expression e =>
    cases e with
    | string text => exact ⟨text, rfl⟩
    | _ => cases string
  | _ => cases string

/-- A string is longer at the head of a program, where it stands in parentheses. -/
theorem renderRest_ne_of_string {stmts : List Stmt} {out : List Char}
    (string : Stmt.startsWithString stmts = true) (rendered : renderProgram stmts = .ok out) :
    renderRest stmts ≠ .ok out := by
  intro following
  rw [renderProgram_eq_restore, restore_code_eq_ok_iff _ (length_programSegments stmts).symm]
    at rendered
  rw [renderRest_eq_restore, restore_code_eq_ok_iff _ (length_restSegments stmts).symm] at following
  have same := rendered.2.symm.trans following.2
  cases stmts with
  | nil => cases string
  | cons s rest =>
    obtain ⟨text, rfl⟩ := Stmt.eq_of_isString string
    rw [programSegments, firstSegments, restSegments, Stmt.allSegments, Stmt.segments,
      Segments.fill_prepend, Segments.fill_prepend, List.append_cancel_right_eq] at same
    have lengths := congrArg List.length same
    simp [printExprStmt, printExpr, tabs, wrap, Expr.isName] at lengths

/-- **What a first statement changes.** Statements that are rendered as a program have the same text
behind others just if they start neither with a string nor with a dot. -/
theorem renderRest_eq_ok_iff {stmts : List Stmt} {out : List Char}
    (rendered : renderProgram stmts = .ok out) :
    renderRest stmts = .ok out ↔
      Stmt.startsWithString stmts = false ∧ Stmt.startsWithDot stmts = false := by
  constructor
  · intro following
    have noString : Stmt.startsWithString stmts = false := by
      cases string : Stmt.startsWithString stmts with
      | false => rfl
      | true => exact absurd following (renderRest_ne_of_string string rendered)
    obtain ⟨y, again, text⟩ := (renderProgram_eq_ok_iff_rest noString out).1 rendered
    obtain rfl := Except.ok.inj (following.symm.trans again)
    refine ⟨noString, ?_⟩
    cases dot : Stmt.startsWithDot stmts with
    | false => rfl
    | true =>
      have lengths := congrArg List.length text
      simp [dot, spaceIf] at lengths
  · rintro ⟨noString, noDot⟩
    obtain ⟨y, following, text⟩ := (renderProgram_eq_ok_iff_rest noString out).1 rendered
    rw [noDot] at text
    rw [following, text]
    rfl

theorem renderProgram_nil : renderProgram [] = .ok [] := by
  rw [renderProgram, printProgram, restore, cut_nil]
  rfl

/-- A comment alone is a line with its text. -/
theorem renderRest_comment (c : Comment) : renderRest [.comment c] = .ok (c.text ++ ['\n']) := by
  have spelling : printStmts 0 0 [.comment c] = (spelled 0).text ++ ['\n'] := by
    rw [printStmts, printStmts, printStmt, printExprStmt_placeholderExpr, List.append_nil]
    rfl
  have pieces : cut ((spelled 0).text ++ ['\n']) = ⟨[], [(['0'], ['\n'])]⟩ := by
    rw [cut_text, cut_skip rfl, cut_nil]
    rfl
  have number : index? ['0'] = some 0 := by decide
  rw [renderRest, spelling, restore, pieces]
  simp [Stmt.allComments, Stmt.comments, Pieces.fill, number]

theorem renderProgram_comment (c : Comment) :
    renderProgram [.comment c] = .ok (c.text ++ ['\n']) := by
  have noString : Stmt.startsWithString [.comment c] = false := rfl
  rw [renderProgram_eq_ok_iff_rest noString]
  exact ⟨_, renderRest_comment c, rfl⟩

theorem renderRest_comment_cons (c : Comment) {stmts : List Stmt} {y : List Char}
    (bound : (Stmt.allComments stmts).length < 2 ^ 64) (following : renderRest stmts = .ok y) :
    renderRest (.comment c :: stmts) = .ok (c.text ++ ['\n'] ++ y) := by
  have fits : (Stmt.allComments ([.comment c] ++ stmts)).length ≤ 2 ^ 64 := by
    rw [allComments_append, List.length_append, Nat.add_comm]
    exact bound
  exact (renderRest_append fits _).2 ⟨_, y, renderRest_comment c, following, rfl⟩

/-! ## Statements of a tree -/

theorem Stmt.ofNodes_append {a b : List Node} {stmts : List Stmt} :
    Stmt.ofNodes (a ++ b) = .ok stmts ↔
      ∃ x y, Stmt.ofNodes a = .ok x ∧ Stmt.ofNodes b = .ok y ∧ stmts = x ++ y := by
  induction a generalizing stmts with
  | nil =>
    constructor
    · intro made
      exact ⟨[], stmts, rfl, made, rfl⟩
    · rintro ⟨x, y, none, made, rfl⟩
      obtain rfl := Except.ok.inj none
      exact made
  | cons n rest ih =>
    rw [List.cons_append, ofNodes, ofNodes, bind_eq_ok]
    constructor
    · rintro ⟨s, first, made⟩
      obtain ⟨more, others, last⟩ := bind_eq_ok.1 made
      obtain ⟨x, y, left, right, rfl⟩ := ih.1 others
      refine ⟨s :: x, y, ?_, right, (Except.ok.inj last).symm⟩
      rw [first, left]
      rfl
    · rintro ⟨x, y, made, right, rfl⟩
      obtain ⟨s, first, made⟩ := bind_eq_ok.1 made
      obtain ⟨x', left, last⟩ := bind_eq_ok.1 made
      obtain rfl := Except.ok.inj last
      refine ⟨s, first, ?_⟩
      rw [ih.2 ⟨x', y, left, right, rfl⟩]
      rfl

end JavaScript

/-- Whether a node is a string, with or without wrappers. -/
def Node.isString : Node → Bool
  | .statement e => e.isString
  | .literal (.string _) _ _ => true
  | _ => false

/-- Whether the first of some statements is a string, with or without wrappers. -/
def Node.startsWithString : List Node → Bool
  | [] => false
  | n :: _ => n.isString

/-- Whether the first of some statements opens with a dot that has nothing before it. -/
def Node.startsWithDot : List Node → Bool
  | [] => false
  | n :: _ =>
    match Stmt.ofNode n with
    | .ok s => s.opensWithDot
    | .error _ => false

theorem Node.isString_of_exprOfNode {n : Node} {e : Expr} (made : Expr.ofNode n = .ok e) :
    (Stmt.expression e).isString = n.isString := by
  cases n with
  | statement inner => exact Node.isString_of_exprOfNode (n := inner) made
  | identifier name =>
    cases made
    rfl
  | literal value raw sType =>
    cases made
    cases value <;> rfl
  | call callee arguments sType isPower =>
    obtain ⟨f, _, made⟩ := bind_eq_ok.1 made
    obtain ⟨es, _, last⟩ := bind_eq_ok.1 made
    cases last
    rfl
  | member computed owner property =>
    obtain ⟨o, _, made⟩ := bind_eq_ok.1 made
    cases computed with
    | true =>
      obtain ⟨p, _, last⟩ := bind_eq_ok.1 made
      cases last
      rfl
    | false =>
      obtain ⟨name, _, last⟩ := bind_eq_ok.1 made
      cases last
      rfl
  | arrow id params body generator expression =>
    obtain ⟨names, _, made⟩ := bind_eq_ok.1 made
    obtain ⟨b, _, last⟩ := bind_eq_ok.1 made
    cases last
    rfl
  | binary operator sType left right =>
    obtain ⟨l, _, made⟩ := bind_eq_ok.1 made
    obtain ⟨r, _, made⟩ := bind_eq_ok.1 made
    obtain ⟨op, _, last⟩ := bind_eq_ok.1 made
    cases last
    rfl
  | unary operator argument before =>
    obtain ⟨op, _, made⟩ := bind_eq_ok.1 made
    obtain ⟨a, _, last⟩ := bind_eq_ok.1 made
    cases last
    rfl
  | conditional test consequent alternate =>
    obtain ⟨t, _, made⟩ := bind_eq_ok.1 made
    obtain ⟨c, _, made⟩ := bind_eq_ok.1 made
    obtain ⟨a, _, last⟩ := bind_eq_ok.1 made
    cases last
    rfl
  | array elements =>
    obtain ⟨es, _, last⟩ := bind_eq_ok.1 made
    cases last
    rfl
  | object properties =>
    obtain ⟨fields, _, last⟩ := bind_eq_ok.1 made
    cases last
    rfl
  | program body sourceType => cases made
  | declaration ds kind => cases made
  | block body => cases made
  | comment c => cases made

theorem Node.isString_of_stmtOfNode {n : Node} {s : Stmt} (made : Stmt.ofNode n = .ok s) :
    s.isString = n.isString := by
  cases n with
  | declaration ds kind =>
    obtain ⟨bindings, _, last⟩ := bind_eq_ok.1 made
    cases last
    rfl
  | block body =>
    obtain ⟨stmts, _, last⟩ := bind_eq_ok.1 made
    cases last
    rfl
  | comment c =>
    cases made
    rfl
  | program body sourceType => cases made
  | _ =>
    obtain ⟨e, inner, last⟩ := bind_eq_ok.1 made
    cases last
    exact Node.isString_of_exprOfNode inner

/-- How statements start is seen in their nodes. -/
theorem Node.starts_of_ofNodes {ns : List Node} {stmts : List Stmt}
    (made : Stmt.ofNodes ns = .ok stmts) :
    Stmt.startsWithString stmts = Node.startsWithString ns ∧
      Stmt.startsWithDot stmts = Node.startsWithDot ns := by
  cases ns with
  | nil =>
    cases made
    exact ⟨rfl, rfl⟩
  | cons n rest =>
    obtain ⟨s, first, made⟩ := bind_eq_ok.1 made
    obtain ⟨more, _, last⟩ := bind_eq_ok.1 made
    cases last
    refine ⟨Node.isString_of_stmtOfNode first, ?_⟩
    rw [Node.startsWithDot, first]
    rfl

theorem Node.render_program_iff {body : List Node} {k : SourceType} {out : String} :
    (Node.program body k).render = .ok out ↔
      ∃ stmts, Stmt.ofNodes body = .ok stmts ∧ renderProgram stmts = .ok out.toList := by
  cases lowered : Stmt.ofNodes body with
  | error f => simp [render, programOfTree, lowered]
  | ok stmts =>
    have tree : programOfTree (Node.program body k) = .ok stmts := lowered
    rw [Node.render_of_program tree]
    simp

theorem Node.ne_nil_of_ofNodes {ns : List Node} {stmts : List Stmt} (some : ns ≠ [])
    (made : Stmt.ofNodes ns = .ok stmts) : stmts ≠ [] := by
  cases ns with
  | nil => exact absurd rfl some
  | cons n rest =>
    obtain ⟨s, _, made⟩ := bind_eq_ok.1 made
    obtain ⟨more, _, last⟩ := bind_eq_ok.1 made
    cases last
    simp

/-- A tree that does not start with a string is rendered as statements that follow others, but for
the space before a dot. -/
theorem Node.render_program_iff_rest {body : List Node} {k : SourceType}
    (noString : startsWithString body = false) (out : String) :
    (Node.program body k).render = .ok out ↔
      ∃ stmts y, Stmt.ofNodes body = .ok stmts ∧ renderRest stmts = .ok y ∧
        out.toList = spaceIf (startsWithDot body) ++ y := by
  rw [render_program_iff]
  constructor
  · rintro ⟨stmts, made, rendered⟩
    obtain ⟨string, dot⟩ := starts_of_ofNodes made
    rw [renderProgram_eq_ok_iff_rest (string.trans noString), dot] at rendered
    obtain ⟨y, following, text⟩ := rendered
    exact ⟨stmts, y, made, following, text⟩
  · rintro ⟨stmts, y, made, following, text⟩
    obtain ⟨string, dot⟩ := starts_of_ofNodes made
    refine ⟨stmts, made, ?_⟩
    rw [renderProgram_eq_ok_iff_rest (string.trans noString), dot]
    exact ⟨y, following, text⟩

/-- The text of a tree with other statements before its own. -/
theorem Node.render_append_iff {a b : List Node} (k : SourceType) (some : a ≠ [])
    (bound : (allStatementComments (a ++ b)).length ≤ 2 ^ 64) (out : String) :
    (Node.program (a ++ b) k).render = .ok out ↔
      ∃ x stmts y, (Node.program a k).render = .ok x ∧ Stmt.ofNodes b = .ok stmts ∧
        renderRest stmts = .ok y ∧ out.toList = x.toList ++ y := by
  have fits {x y : List Stmt} (made : Stmt.ofNodes (a ++ b) = .ok (x ++ y)) :
      (Stmt.allComments (x ++ y)).length ≤ 2 ^ 64 := by
    rw [Stmt.allComments_of_ofNodes made]
    exact bound
  rw [render_program_iff]
  constructor
  · rintro ⟨stmts, made, rendered⟩
    obtain ⟨x, y, left, right, rfl⟩ := Stmt.ofNodes_append.1 made
    rw [renderProgram_append (ne_nil_of_ofNodes some left) (fits made)] at rendered
    obtain ⟨first, second, head, following, text⟩ := rendered
    refine ⟨String.ofList first, y, second, ?_, right, following, ?_⟩
    · exact render_program_iff.2 ⟨x, left, by rw [head, String.toList_ofList]⟩
    · rw [text, String.toList_ofList]
  · rintro ⟨first, y, second, head, right, following, text⟩
    obtain ⟨x, left, head⟩ := render_program_iff.1 head
    have made := Stmt.ofNodes_append.2 ⟨x, y, left, right, rfl⟩
    refine ⟨x ++ y, made, ?_⟩
    rw [renderProgram_append (ne_nil_of_ofNodes some left) (fits made)]
    exact ⟨first.toList, second, head, following, text⟩

theorem Node.render_append_text {a b : List Node} {k : SourceType} {x y : String} (some : a ≠ [])
    (noString : startsWithString b = false)
    (bound : (allStatementComments (a ++ b)).length ≤ 2 ^ 64)
    (left : (Node.program a k).render = .ok x) (right : (Node.program b k).render = .ok y) :
    ∃ rest, y = String.ofList (spaceIf (startsWithDot b)) ++ rest ∧
      (Node.program (a ++ b) k).render = .ok (x ++ rest) := by
  obtain ⟨stmts, rest, made, following, text⟩ := (render_program_iff_rest noString y).1 right
  refine ⟨String.ofList rest, ?_, ?_⟩
  · rw [← String.ofList_append, ← text, String.ofList_toList]
  · rw [render_append_iff k some bound]
    exact ⟨x, stmts, rest, left, made, following, by simp⟩

/-- **Texts of trees one after the other.** If the statements of two trees are put together and the
second ones do not start with a string, then the whole is rendered just if both trees are. Its text
is the text of the first tree and that of the second one, which loses the space that it starts with
if it starts with a dot that has nothing before it. The number of comments is a word of 64 bits. -/
theorem Node.render_append {a b : List Node} (k : SourceType) (some : a ≠ [])
    (noString : startsWithString b = false)
    (bound : (allStatementComments (a ++ b)).length ≤ 2 ^ 64) :
    ((∃ out, (Node.program (a ++ b) k).render = .ok out) ↔
      (∃ x, (Node.program a k).render = .ok x) ∧ ∃ y, (Node.program b k).render = .ok y) ∧
    ∀ x y, (Node.program a k).render = .ok x → (Node.program b k).render = .ok y →
      ∃ rest, y = String.ofList (spaceIf (startsWithDot b)) ++ rest ∧
        (Node.program (a ++ b) k).render = .ok (x ++ rest) := by
  refine ⟨⟨?_, ?_⟩, fun x y => render_append_text some noString bound⟩
  · rintro ⟨out, rendered⟩
    obtain ⟨x, stmts, y, left, made, following, _⟩ :=
      (render_append_iff k some bound out).1 rendered
    refine ⟨⟨x, left⟩, String.ofList (spaceIf (startsWithDot b) ++ y), ?_⟩
    rw [render_program_iff_rest noString]
    exact ⟨stmts, y, made, following, String.toList_ofList⟩
  · rintro ⟨⟨x, left⟩, y, right⟩
    obtain ⟨rest, _, rendered⟩ := render_append_text some noString bound left right
    exact ⟨x ++ rest, rendered⟩

/-- The comment of the second tree is number 1 in the whole, and its text spells the placeholder of
the other comment. -/
theorem Node.render_append_twoComments :
    let a : List Node := [.comment ⟨"Line", "1"⟩, .identifier "x"]
    let b : List Node := [.member false (.identifier "") (.identifier "a"),
      .comment ⟨"Line", "void \"__estemplate_comment_0__\";"⟩]
    a ≠ [] ∧ startsWithString b = false ∧ (allStatementComments (a ++ b)).length ≤ 2 ^ 64 ∧
      ∃ rest, " .a;\n//void \"__estemplate_comment_0__\";\n" = " " ++ rest ∧
        (Node.program (a ++ b) .script).render = .ok ("//1\nx;\n" ++ rest) := by
  intro a b
  have some : a ≠ [] := by simp [a]
  have noString : startsWithString b = false := rfl
  have bound : (allStatementComments (a ++ b)).length ≤ 2 ^ 64 := by decide
  have left : (Node.program a .script).render = .ok "//1\nx;\n" := by decide +kernel
  have right : (Node.program b .script).render =
      .ok " .a;\n//void \"__estemplate_comment_0__\";\n" := by decide +kernel
  exact ⟨some, noString, bound, (Node.render_append .script some noString bound).2 _ _ left right⟩

/-- A dot with nothing before it: the texts of two trees do not just follow each other. -/
theorem Node.render_append_loses_space :
    let a : List Node := [.identifier "x"]
    let b : List Node := [.member false (.identifier "") (.identifier "a")]
    startsWithString b = false ∧ (Node.program a .script).render = .ok "x;\n" ∧
      (Node.program b .script).render = .ok " .a;\n" ∧
      (Node.program (a ++ b) .script).render ≠ .ok ("x;\n" ++ " .a;\n") := by
  decide +kernel

theorem Node.allStatementComments_append (a b : List Node) :
    allStatementComments (a ++ b) = allStatementComments a ++ allStatementComments b := by
  induction a with
  | nil => rfl
  | cons n rest ih =>
    rw [List.cons_append, allStatementComments, allStatementComments, ih, List.append_assoc]

/-- A comment before all statements of a tree leaves their text as it was just if they start neither
with a string nor with a dot that has nothing before it. -/
theorem Node.render_comment_first_iff {after : List Node} {y : String} (k : SourceType)
    (c : Comment) (bound : (allStatementComments after).length < 2 ^ 64)
    (whole : (Node.program after k).render = .ok y) :
    (Node.program (.comment c :: after) k).render = .ok (String.ofList c.text ++ "\n" ++ y) ↔
      startsWithString after = false ∧ startsWithDot after = false := by
  obtain ⟨stmts, made, rendered⟩ := render_program_iff.1 whole
  obtain ⟨string, dot⟩ := starts_of_ofNodes made
  have fits : (allStatementComments ([.comment c] ++ after)).length ≤ 2 ^ 64 := by
    rw [allStatementComments_append, List.length_append, Nat.add_comm]
    exact bound
  have line : (Node.program [.comment c] k).render = .ok (String.ofList c.text ++ "\n") := by
    rw [render_program_iff]
    exact ⟨[.comment c], rfl, by simp [renderProgram_comment]⟩
  rw [← string, ← dot, ← renderRest_eq_ok_iff rendered]
  change (Node.program ([.comment c] ++ after) k).render = _ ↔ _
  rw [render_append_iff k (by simp) fits]
  constructor
  · rintro ⟨x, stmts', y', first, made', following, text⟩
    obtain rfl := Except.ok.inj (made'.symm.trans made)
    obtain rfl := Except.ok.inj (first.symm.trans line)
    rw [String.toList_append, List.append_cancel_left_eq] at text
    rw [following, text]
  · intro following
    exact ⟨_, stmts, y.toList, line, made, following, String.toList_append⟩

/-- A comment between statements of a tree adds its line to the text. -/
theorem Node.render_comment_between {before after : List Node} {x y : String} (k : SourceType)
    (c : Comment) (some : before ≠ [])
    (bound : (allStatementComments (before ++ after)).length < 2 ^ 64)
    (head : (Node.program before k).render = .ok x)
    (whole : (Node.program (before ++ after) k).render = .ok (x ++ y)) :
    (Node.program (before ++ .comment c :: after) k).render =
      .ok (x ++ String.ofList c.text ++ "\n" ++ y) := by
  rw [render_append_iff k some (Nat.le_of_lt bound)] at whole
  obtain ⟨x', stmts, y', head', made, following, text⟩ := whole
  obtain rfl := Except.ok.inj (head.symm.trans head')
  rw [String.toList_append, List.append_cancel_left_eq] at text
  subst text
  rw [allStatementComments_append, List.length_append] at bound
  have fits : (allStatementComments (before ++ .comment c :: after)).length ≤ 2 ^ 64 := by
    rw [allStatementComments_append, List.length_append, allStatementComments, List.length_append]
    change _ + (1 + _) ≤ _
    omega
  have fewer : (Stmt.allComments stmts).length < 2 ^ 64 := by
    rw [Stmt.allComments_of_ofNodes made]
    omega
  have lowered : Stmt.ofNodes (.comment c :: after) = .ok (.comment c :: stmts) := by
    rw [Stmt.ofNodes, made]
    rfl
  rw [render_append_iff k some fits]
  exact ⟨x, _, _, head, lowered, renderRest_comment_cons c fewer following, by simp⟩

/-- **A comment changes nothing around it**, just if it does not come before all other statements,
or the statement that was the first one starts neither with a string nor with a dot that has nothing
before it. In the other cases that statement was printed by the rules on a first statement, and is
not any more. The number of comments is a word of 64 bits. -/
theorem Node.render_insert_comment_iff {before after : List Node} {x y : String} (k : SourceType)
    (c : Comment) (bound : (allStatementComments (before ++ after)).length < 2 ^ 64)
    (head : (Node.program before k).render = .ok x)
    (whole : (Node.program (before ++ after) k).render = .ok (x ++ y)) :
    (Node.program (before ++ .comment c :: after) k).render =
        .ok (x ++ String.ofList c.text ++ "\n" ++ y) ↔
      before ≠ [] ∨ startsWithString after = false ∧ startsWithDot after = false := by
  cases before with
  | nil =>
    have empty : (Node.program [] k).render = .ok "" :=
      render_program_iff.2 ⟨[], rfl, renderProgram_nil⟩
    obtain rfl := Except.ok.inj (head.symm.trans empty)
    rw [List.nil_append, String.empty_append] at whole
    rw [List.nil_append] at bound
    rw [List.nil_append, String.empty_append, render_comment_first_iff k c bound whole]
    simp
  | cons n rest =>
    exact iff_of_true (render_comment_between k c (by simp) bound head whole) (.inl (by simp))

theorem Node.render_insert_comment_behind_name :
    let before : List Node := [.identifier "x"]
    let after : List Node := [.literal (.string "use strict") "use strict" none]
    (allStatementComments (before ++ after)).length < 2 ^ 64 ∧
      (Node.program before .script).render = .ok "x;\n" ∧
      (Node.program (before ++ after) .script).render = .ok ("x;\n" ++ "\"use strict\";\n") ∧
      (Node.program (before ++ .comment ⟨"Line", " c"⟩ :: after) .script).render =
        .ok ("x;\n" ++ String.ofList (Comment.text ⟨"Line", " c"⟩) ++ "\n" ++
          "\"use strict\";\n") := by
  intro before after
  have bound : (allStatementComments (before ++ after)).length < 2 ^ 64 := by decide
  have head : (Node.program before .script).render = .ok "x;\n" := by decide +kernel
  have whole : (Node.program (before ++ after) .script).render =
      .ok ("x;\n" ++ "\"use strict\";\n") := by decide +kernel
  have inserted := Node.render_insert_comment_iff .script ⟨"Line", " c"⟩ bound head whole
  exact ⟨bound, head, whole, inserted.2 (.inl (by simp [before]))⟩

/-- Behind a comment the string loses its parentheses, so that it becomes a directive. -/
theorem Node.render_comment_makes_directive :
    let string : Node := .literal (.string "use strict") "use strict" none
    (Node.program [] .script).render = .ok "" ∧
      (Node.program [string] .script).render = .ok "(\"use strict\");\n" ∧
      (Node.program [.comment ⟨"Line", " c"⟩, string] .script).render =
        .ok "// c\n\"use strict\";\n" := by
  decide +kernel

end ScriptTree
