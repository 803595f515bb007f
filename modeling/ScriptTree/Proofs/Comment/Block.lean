import Mathlib.Data.List.Infix
import ScriptTree.Comment.Text

/-!
# Block comments

A block goes on to the first star with a slash behind it. In the text of a comment that is a block,
this is the end of the text: a space stands between each star and slash of the value, and no other
pair comes about, neither around these spaces nor at the two ends of the value (`text_block`).
-/

namespace ScriptTree.Comment
set_option autoImplicit false

/-- The two characters that close a block. -/
def blockEnd : List Char :=
  ['*', '/']

/-- What is left of the inside of a block behind the first place that closes it. -/
def afterEnd? : List Char → Option (List Char)
  | [] => none
  | c :: rest => if blockEnd <+: c :: rest then some (rest.drop 1) else afterEnd? rest

/-- What is left of a program behind the block that it starts with. -/
def afterBlock? : List Char → Option (List Char)
  | '/' :: '*' :: inside => afterEnd? inside
  | _ => none

/-- The characters of a text, with a space behind each star that has a slash behind it. -/
def drawnApart (cs : List Char) : List Char :=
  cs.tails.flatMap fun rest => rest.take 1 ++ if blockEnd <+: rest then [' '] else []

/-! ## Where a block is closed -/

theorem blockEnd_prefix_cons {c : Char} {rest : List Char} :
    blockEnd <+: c :: rest ↔ c = '*' ∧ rest.head? = some '/' := by
  cases rest with
  | nil => simp [blockEnd]
  | cons d rest => simp [blockEnd, eq_comm]

/-- A block is closed at the first place where the two characters stand. -/
theorem afterEnd?_eq_some {cs : List Char} {n : Nat} (closed : blockEnd <+: cs.drop n)
    (first : ∀ i < n, ¬ blockEnd <+: cs.drop i) : afterEnd? cs = some (cs.drop (n + 2)) := by
  induction n generalizing cs with
  | zero =>
    cases cs with
    | nil => simp [blockEnd] at closed
    | cons c rest => exact if_pos closed
  | succ n ih =>
    cases cs with
    | nil => simp [blockEnd] at closed
    | cons c rest =>
      have here : ¬ blockEnd <+: c :: rest := first 0 (Nat.succ_pos n)
      have later : ∀ i < n, ¬ blockEnd <+: rest.drop i := fun i before =>
        first (i + 1) (Nat.succ_lt_succ before)
      rw [afterEnd?, if_neg here, ih closed later]
      rfl

/-! ## Stars and slashes drawn apart -/

theorem head?_separateEnds (cs : List Char) : (separateEnds cs).head? = cs.head? := by
  fun_cases separateEnds cs <;> rfl

/-- **No block is closed in a text that is drawn apart**, also if it ends with a star and the end of
the block follows. -/
theorem not_blockEnd_prefix_drop (value after : List Char) {i : Nat}
    (inside : i < (separateEnds value).length) :
    ¬ blockEnd <+: (separateEnds value ++ (blockEnd ++ after)).drop i := by
  fun_induction separateEnds value generalizing i with
  | case1 rest ih =>
    match i with
    | 0 => simp [blockEnd_prefix_cons]
    | 1 => simp [blockEnd_prefix_cons]
    | 2 => simp [blockEnd_prefix_cons]
    | i + 3 => exact ih (by simpa using inside)
  | case2 c rest apart ih =>
    match i with
    | 0 =>
      -- behind `c` comes the first character of `rest`, or the star that ends the block
      have next : (separateEnds rest ++ (blockEnd ++ after)).head? = rest.head?.or (some '*') := by
        rw [List.head?_append, head?_separateEnds]
        rfl
      rw [List.drop_zero, List.cons_append, blockEnd_prefix_cons, next]
      rintro ⟨rfl, slash⟩
      cases rest with
      | nil => simp at slash
      | cons d rest => exact apart rest rfl (by simpa using slash)
    | i + 1 => exact ih (by simpa using inside)
  | case3 => simp at inside

theorem separateEnds_eq_drawnApart (value : List Char) : separateEnds value = drawnApart value := by
  fun_induction separateEnds value with
  | case1 rest ih => simp [ih, drawnApart, blockEnd_prefix_cons]
  | case2 c rest apart ih =>
    have unclosed : ¬ blockEnd <+: c :: rest := by
      rw [blockEnd_prefix_cons]
      rintro ⟨rfl, slash⟩
      obtain ⟨more, rfl⟩ := List.head?_eq_some_iff.1 slash
      exact apart more rfl rfl
    simp [ih, drawnApart, unclosed]
  | case3 => simp [drawnApart, blockEnd]

/-- A text without the end of a block stays as it is. -/
theorem drawnApart_of_not_infix {cs : List Char} (none : ¬ blockEnd <:+: cs) :
    drawnApart cs = cs := by
  induction cs with
  | nil => simp [drawnApart, blockEnd]
  | cons c rest ih =>
    rw [List.infix_cons_iff, not_or] at none
    have behind := ih none.2
    unfold drawnApart at behind ⊢
    rw [List.tails_cons, List.flatMap_cons, behind, if_neg none.1]
    rfl

/-! ## The text of a block -/

theorem text_of_ne_line {c : Comment} (block : c.kind ≠ "Line") :
    text c = '/' :: '*' :: (drawnApart c.value.toList ++ blockEnd) := by
  rw [text, if_neg block, ← separateEnds_eq_drawnApart]
  rfl

/-- Inside of a block, its end stands at the end and nowhere before. -/
theorem blockEnd_prefix_drop_iff (value : List Char) (i : Nat) :
    blockEnd <+: (drawnApart value ++ blockEnd).drop i ↔ i = (drawnApart value).length := by
  constructor
  · intro closed
    have short : blockEnd.length ≤ ((drawnApart value ++ blockEnd).drop i).length :=
      closed.length_le
    have inside : ¬ i < (drawnApart value).length := by
      intro inside
      rw [← separateEnds_eq_drawnApart] at inside closed
      exact not_blockEnd_prefix_drop value [] inside (by simpa using closed)
    simp only [List.length_drop, List.length_append, blockEnd, List.length_cons,
      List.length_nil] at short
    omega
  · rintro rfl
    rw [List.drop_left]

theorem afterEnd?_drawnApart (value rest : List Char) :
    afterEnd? (drawnApart value ++ (blockEnd ++ rest)) = some rest := by
  have closed : blockEnd <+:
      (drawnApart value ++ (blockEnd ++ rest)).drop (drawnApart value).length := by
    rw [List.drop_left]
    exact List.prefix_append blockEnd rest
  have first : ∀ i < (drawnApart value).length,
      ¬ blockEnd <+: (drawnApart value ++ (blockEnd ++ rest)).drop i := by
    rw [← separateEnds_eq_drawnApart]
    intro i inside
    exact not_blockEnd_prefix_drop value rest inside
  rw [afterEnd?_eq_some closed first, ← List.drop_drop, List.drop_left]
  rfl

/-- **A block comment is closed at its end.** Its text is its value between the two delimiters, with
a space in each place where the value would close the block. Behind the opening the end of a block
stands just at the end, so a program goes on right behind the comment. -/
theorem text_block {c : Comment} (block : c.kind ≠ "Line") :
    text c = "/*".toList ++ drawnApart c.value.toList ++ "*/".toList ∧
      (¬ blockEnd <:+: c.value.toList → drawnApart c.value.toList = c.value.toList) ∧
      (∀ i, 2 ≤ i → (blockEnd <+: (text c).drop i ↔ i + 2 = (text c).length)) ∧
      ∀ rest, afterBlock? (text c ++ rest) = some rest := by
  have shape := text_of_ne_line block
  refine ⟨shape, drawnApart_of_not_infix, ?_, ?_⟩
  · intro i behind
    obtain ⟨k, rfl⟩ : ∃ k, i = k + 2 := ⟨i - 2, by omega⟩
    have length : (text c).length = (drawnApart c.value.toList).length + 4 := by
      simp [shape, blockEnd]
    rw [length, shape, List.drop_succ_cons, List.drop_succ_cons, blockEnd_prefix_drop_iff]
    omega
  · intro rest
    rw [shape]
    simpa [afterBlock?] using afterEnd?_drawnApart c.value.toList rest

/-- A value that starts with a slash, ends with a star and has a pair behind a star, a pair before a
slash and two pairs in a row. -/
theorem text_block_pairs :
    text ⟨"Block", "/**//*/*/*"⟩ = "/*/** //* /* /**/".toList ∧
      afterBlock? (text ⟨"Block", "/**//*/*/*"⟩ ++ "f()".toList) = some "f()".toList := by
  obtain ⟨shape, -, -, behind⟩ := text_block (c := ⟨"Block", "/**//*/*/*"⟩) (by decide)
  exact ⟨shape.trans (by decide), behind _⟩

end ScriptTree.Comment
