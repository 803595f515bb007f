import ScriptTree.Comment.Text

/-!
# The lines of a comment

A program has four characters that end a line. A comment of the kind `Line` puts two slashes behind
the newlines of its value, but not behind the other three characters: what follows one of these on
the same line of the value is no part of the comment (`commentsOnly_text_iff`).
-/

namespace ScriptTree.Comment
set_option autoImplicit false

/-- The characters that end a line of a program: the newline, the carriage return, and the two
separators of lines and paragraphs. -/
def isLineEnd (c : Char) : Bool :=
  c = '\n' || c = '\r' || c = '\u2028' || c = '\u2029'

/-- A line without code: it is empty or starts with two slashes. -/
def Silent (line : List Char) : Prop :=
  line ≠ [] → ['/', '/'] <+: line

instance (line : List Char) : Decidable (Silent line) :=
  inferInstanceAs (Decidable (line ≠ [] → ['/', '/'] <+: line))

/-- A text of nothing but line ends and comments that go on to the end of the line. -/
def CommentsOnly (cs : List Char) : Prop :=
  ∀ line ∈ cs.splitOnP isLineEnd, Silent line

instance (cs : List Char) : Decidable (CommentsOnly cs) :=
  decidable_of_iff ((cs.splitOnP isLineEnd).all fun line => decide (Silent line))
    (by simp [CommentsOnly])

/-! ## Lines one after the other -/

theorem commentsOnly_append_newline (a b : List Char) :
    CommentsOnly (a ++ '\n' :: b) ↔ CommentsOnly a ∧ CommentsOnly b := by
  unfold CommentsOnly
  rw [List.splitOnP_append_cons a b (by decide), List.forall_mem_append]

theorem commentsOnly_nil : CommentsOnly [] := by
  decide

/-- Behind two slashes the first line is silent, whatever it is. -/
theorem commentsOnly_slashes_iff (cs : List Char) :
    CommentsOnly ('/' :: '/' :: cs) ↔ ∀ line ∈ (cs.splitOnP isLineEnd).tail, Silent line := by
  have slash : isLineEnd '/' = false := by decide
  obtain ⟨first, rest, split⟩ := List.exists_cons_of_ne_nil (List.splitOnP_ne_nil isLineEnd cs)
  have silent : Silent ('/' :: '/' :: first) := fun _ => ⟨first, rfl⟩
  unfold CommentsOnly
  simp only [List.splitOnP_cons_eq_if_modifyHead, slash, split, Bool.false_eq_true, if_false,
    List.modifyHead_cons, List.forall_mem_cons, List.tail_cons, silent, true_and]

theorem lineText_append_newline (a b : List Char) :
    lineText (a ++ '\n' :: b) = lineText a ++ '\n' :: lineText b := by
  simp [lineText]

theorem lineText_of_notMem {cs : List Char} (single : '\n' ∉ cs) :
    lineText cs = '/' :: '/' :: cs := by
  have unchanged : cs.map (fun c => if c = '\n' then ['\n', '/', '/'] else [c]) =
      cs.map fun c => [c] := by
    apply List.map_congr_left
    intro c member
    rw [if_neg]
    rintro rfl
    exact single member
  unfold lineText
  rw [List.flatMap_def, unchanged, ← List.flatMap_def, List.flatMap_singleton']

theorem commentsOnly_lineText_iff (value : List Char) :
    CommentsOnly (lineText value) ↔
      ∀ line ∈ value.splitOn '\n', ∀ rest ∈ (line.splitOnP isLineEnd).tail, Silent rest := by
  -- by induction on the lines of the value: each of them is behind slashes of its own
  induction h : value.length using Nat.strongRecOn generalizing value with
  | ind n ih =>
    by_cases newline : '\n' ∈ value
    · obtain ⟨line, below, rfl, single⟩ := List.eq_append_cons_of_mem newline
      have shorter : below.length < n := by
        rw [← h]
        simp
        omega
      rw [lineText_append_newline, commentsOnly_append_newline, lineText_of_notMem single,
        commentsOnly_slashes_iff, ih _ shorter below rfl,
        List.splitOn_append_cons_self_of_not_mem single, List.forall_mem_cons]
    · rw [lineText_of_notMem newline, commentsOnly_slashes_iff, List.splitOn_eq_singleton newline,
        List.forall_mem_singleton]

/-- **A comment of the kind `Line` is no code**, just if on each line of its value there is nothing
but comments behind the first carriage return or separator. -/
theorem commentsOnly_text_iff (value : String) :
    CommentsOnly (text ⟨"Line", value⟩ ++ ['\n']) ↔
      ∀ line ∈ value.toList.splitOn '\n', ∀ rest ∈ (line.splitOnP isLineEnd).tail,
        Silent rest := by
  have lines : text ⟨"Line", value⟩ = lineText value.toList := rfl
  rw [lines, commentsOnly_append_newline, and_iff_left commentsOnly_nil, commentsOnly_lineText_iff]

/-- Behind a carriage return the rest of the value is code. -/
theorem not_commentsOnly_carriageReturn :
    text ⟨"Line", " a\rb()"⟩ = "// a\rb()".toList ∧
      ¬ CommentsOnly (text ⟨"Line", " a\rb()"⟩ ++ ['\n']) := by
  decide

end ScriptTree.Comment
