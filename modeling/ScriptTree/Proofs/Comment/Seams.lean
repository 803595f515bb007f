import ScriptTree.Proofs.Comment.Segments

/-!
# Texts one after the other

A `Closed` text ends like a statement. A spelling has a semicolon in its last place only and no
brace at all, so none of them starts in a closed text and goes on behind it: the placeholders of the
two parts of a text are found in each of them alone (`occurrences_append_sealed`). Segments that
follow each other are filled one after the other, and how many placeholders are found in them does
not depend on the number of the first (`length_occurrences_code`).
-/

namespace ScriptTree.Placeholder
set_option autoImplicit false
open Text

/-! ## Closed texts -/

/-- A text that ends with a semicolon or a closing brace, and newlines behind it. -/
def Closed (cs : List Char) : Prop :=
  ∃ before mark newlines, cs = before ++ mark :: newlines ∧ (mark = ';' ∨ mark = '\x7d') ∧
    ∀ c ∈ newlines, c = '\n'

theorem Closed.append {cs : List Char} (closed : Closed cs) (before : List Char) :
    Closed (before ++ cs) := by
  obtain ⟨start, mark, newlines, rfl, kind, blank⟩ := closed
  exact ⟨before ++ start, mark, newlines, by simp, kind, blank⟩

/-- A text no end of which is the beginning of a spelling that goes on behind it. -/
def Sealed (cs : List Char) : Prop :=
  ∀ (s : Spelling) (left right : List Char), left <:+ cs → s.text = left ++ right → right ≠ [] →
    left = []

theorem Sealed.of_suffix {cs rest : List Char} (sealed : Sealed cs) (suffix : rest <:+ cs) :
    Sealed rest :=
  fun s left right inside => sealed s left right (inside.trans suffix)

/-- The characters that a spelling has before its semicolon. -/
def isSpelled (c : Char) : Bool :=
  isBlank c || isQuote c || isDecimalDigit c || c.isAlpha || c == '_'

theorem Spelling.text_front (s : Spelling) :
    ∃ front, s.text = front ++ [';'] ∧ ∀ c ∈ front, isSpelled c = true := by
  refine ⟨"void".toList ++ (s.before ++ s.opening :: ("__estemplate_comment_".toList ++
    (s.digits ++ ("__".toList ++ s.closing :: s.after)))), by simp [Spelling.text], ?_⟩
  have word : "void".toList.all isSpelled = true := by decide
  have start : "__estemplate_comment_".toList.all isSpelled = true := by decide
  have underscores : "__".toList.all isSpelled = true := by decide
  simp only [List.forall_mem_append, List.forall_mem_cons]
  refine ⟨List.all_eq_true.1 word, ?_, ?_, List.all_eq_true.1 start, ?_,
    List.all_eq_true.1 underscores, ?_, ?_⟩
  · intro c member
    simp [isSpelled, s.blank_before c member]
  · simp [isSpelled, s.quote_opening]
  · intro c member
    simp [isSpelled, s.decimal_digits c member]
  · simp [isSpelled, s.quote_closing]
  · intro c member
    simp [isSpelled, s.blank_after c member]

/-- A spelling that is not at its end has had characters of spellings only. -/
theorem Spelling.isSpelled_of_mem {s : Spelling} {left right : List Char}
    (text : s.text = left ++ right) (more : right ≠ []) {c : Char} (member : c ∈ left) :
    isSpelled c = true := by
  obtain ⟨front, whole, spelled⟩ := s.text_front
  have same : left ++ right.dropLast = front := by
    rw [← List.dropLast_append_of_ne_nil more, ← text, whole, List.dropLast_concat]
  exact spelled c (same ▸ List.mem_append_left _ member)

theorem Closed.sealed {cs : List Char} (closed : Closed cs) : Sealed cs := by
  obtain ⟨before, mark, newlines, rfl, kind, blank⟩ := closed
  intro s left right inside text more
  have outside : mark ∉ left := by
    intro member
    have spelled := Spelling.isSpelled_of_mem text more member
    rcases kind with rfl | rfl <;> exact absurd spelled (by decide)
  rcases List.suffix_or_suffix_of_suffix inside (List.suffix_append before (mark :: newlines)) with
    short | long
  · rcases List.suffix_cons_iff.1 short with rfl | short
    · exact absurd (by simp) outside
    · -- All that is left are newlines, and a spelling starts with a letter.
      cases left with
      | nil => rfl
      | cons c rest =>
        obtain ⟨tail, first, _⟩ := s.text_cons
        have newline : c = '\n' := blank c (short.subset (by simp))
        rw [first, newline] at text
        exact absurd (List.cons.inj text).1 (by decide)
  · exact absurd (long.subset (by simp)) outside

/-! ## Placeholders on the two sides of a seam -/

theorem first?_append_sealed {c : Char} {cs : List Char} (missing : first? (c :: cs) = none)
    (sealed : Sealed (c :: cs)) (after : List Char) : first? (c :: (cs ++ after)) = none := by
  rw [Option.eq_none_iff_forall_ne_some]
  rintro ⟨digits, rest⟩ found
  obtain ⟨s, _, same⟩ := spelling_of_first? found
  have whole : c :: cs ++ after = s.text ++ rest := same
  rcases List.append_eq_append_iff.1 whole with ⟨shared, text, _⟩ | ⟨left, text, _⟩
  · cases shared with
    | nil =>
      rw [← List.append_nil (c :: cs), ← text, ← List.append_nil s.text, first?_text] at missing
      cases missing
    | cons first more =>
      cases sealed s (c :: cs) (first :: more) (List.suffix_refl _) text (by simp)
  · rw [text, first?_text] at missing
    cases missing

/-- **No placeholder goes across a seam.** A text behind a closed text has the placeholders that it
has alone. -/
theorem occurrences_append_sealed (start : Nat) {before : List Char} (sealed : Sealed before)
    (after : List Char) :
    occurrences start (before ++ after) =
      occurrences start before ++ occurrences (start + before.length) after := by
  induction before using scan_induction generalizing start with
  | nil => simp [occurrences_nil]
  | found s rest ih =>
    have behind := ih (start + s.text.length) (sealed.of_suffix (List.suffix_append _ _))
    simp [occurrences_text, behind, Nat.add_assoc]
  | skip c rest missing ih =>
    have behind := ih (start + 1) (sealed.of_suffix (List.suffix_cons _ _))
    rw [List.cons_append, occurrences_skip start (first?_append_sealed missing sealed after),
      behind, occurrences_skip start missing]
    simp [Nat.add_assoc, Nat.add_comm 1]

theorem length_occurrences (start other : Nat) (cs : List Char) :
    (occurrences start cs).length = (occurrences other cs).length := by
  rw [← Segments.length_cut, ← Segments.length_cut]

/-! ## Segments one after the other -/

namespace Segments

/-- **The numbers of the placeholders do not matter** for how many are found. -/
theorem length_occurrences_code (start other next next' : Nat) (first : List Char)
    (rest : List (List Char)) :
    (occurrences start (code next ⟨first, rest⟩)).length =
      (occurrences other (code next' ⟨first, rest⟩)).length := by
  induction rest generalizing start other next next' first with
  | nil =>
    simp only [code, List.length_nil, placeholders, List.range'_zero, List.map_nil]
    exact length_occurrences start other _
  | cons segment rest ih =>
    have behind := ih (start + first.length + (spelled next).text.length)
      (other + first.length + (spelled next').text.length) (next + 1) (next' + 1) segment
    simp only [code_cons, occurrences_append, List.length_append, List.length_cons, behind,
      length_occurrences start other first]

/-- Segments before others: the last text of the first ones goes on with the first text of the
others. -/
def join (after : Segments) (first : List Char) : List (List Char) → Segments
  | [] => after.prepend first
  | segment :: rest => (join after segment rest).gap.prepend first

/-- Segments and others behind them. -/
def append (s after : Segments) : Segments :=
  join after s.first s.rest

theorem prepend_prepend (cs ds : List Char) (s : Segments) :
    (s.prepend ds).prepend cs = s.prepend (cs ++ ds) := by
  simp [prepend]

theorem nil_append (s : Segments) : append ⟨[], []⟩ s = s := by
  simp [append, join, prepend]

theorem prepend_append (cs : List Char) (s after : Segments) :
    (s.prepend cs).append after = (s.append after).prepend cs := by
  obtain ⟨first, rest⟩ := s
  cases rest with
  | nil => exact (prepend_prepend cs first after).symm
  | cons segment rest => exact (prepend_prepend cs first _).symm

theorem gap_append (s after : Segments) : s.gap.append after = (s.append after).gap := by
  simp [append, gap, join, prepend]

theorem length_append (s after : Segments) :
    (s.append after).rest.length = s.rest.length + after.rest.length := by
  obtain ⟨first, rest⟩ := s
  induction rest generalizing first with
  | nil => simp [append, join, prepend]
  | cons segment rest ih =>
    have behind := ih segment
    simp only [append, join, prepend, gap, List.length_cons] at behind ⊢
    omega

/-- Segments are filled one after the other. -/
theorem fill_append (s after : Segments) {texts : List (List Char)}
    (each : texts.length = s.rest.length) (more : List (List Char)) :
    (s.append after).fill (texts ++ more) = s.fill texts ++ after.fill more := by
  obtain ⟨first, rest⟩ := s
  induction rest generalizing first texts with
  | nil =>
    obtain rfl := List.eq_nil_of_length_eq_zero each
    simp [append, join, fill, prepend]
  | cons segment rest ih =>
    cases texts with
    | nil => simp at each
    | cons text texts =>
      have shorter : texts.length = rest.length := by simpa using each
      have behind := ih segment shorter
      simp only [append] at behind
      simp only [append, join, fill_prepend, List.cons_append, fill_gap, behind, fill_cons,
        List.append_assoc]

/-- Placeholders are numbered on from the first segments to the others. -/
theorem code_append (next : Nat) (s after : Segments) :
    (s.append after).code next = s.code next ++ after.code (next + s.rest.length) := by
  rw [code, length_append, placeholders_add, fill_append s after (by simp [placeholders])]
  rfl

end Segments

/-! ## Comments on the two sides of a seam -/

theorem restore_code_eq_ok_iff (s : Segments) {comments : List Comment}
    (each : comments.length = s.rest.length) (out : List Char) :
    restore (s.code 0) comments = .ok out ↔
      ((occurrences 0 (s.code 0)).length = comments.length ∧ comments.length ≤ 2 ^ 64) ∧
        out = s.fill (comments.map Comment.text) := by
  rw [restore_code s each]
  split
  · rename_i fits
    exact ⟨fun rendered => ⟨fits, (Except.ok.inj rendered).symm⟩, fun h => congrArg _ h.2.symm⟩
  · rename_i misfits
    exact ⟨nofun, fun h => absurd h.1 misfits⟩

/-- **Comments are put on the two sides of a seam, or refused, as if each side stood alone.** What
one side has too many, the other side cannot make up for, because each has a placeholder for each of
its comments at least. -/
theorem restore_append {s after : Segments} {comments more : List Comment}
    (sealed : Sealed (s.code 0)) (each : comments.length = s.rest.length)
    (others : more.length = after.rest.length) (bound : comments.length + more.length ≤ 2 ^ 64)
    (out : List Char) :
    restore ((s.append after).code 0) (comments ++ more) = .ok out ↔
      ∃ x y, restore (s.code 0) comments = .ok x ∧ restore (after.code 0) more = .ok y ∧
        out = x ++ y := by
  have filled : (s.append after).fill ((comments ++ more).map Comment.text) =
      s.fill (comments.map Comment.text) ++ after.fill (more.map Comment.text) := by
    rw [List.map_append, Segments.fill_append s after (by simpa using each)]
  have found : (occurrences 0 ((s.append after).code 0)).length =
      (occurrences 0 (s.code 0)).length + (occurrences 0 (after.code 0)).length := by
    rw [Segments.code_append, occurrences_append_sealed 0 sealed, List.length_append]
    exact congrArg _ (Segments.length_occurrences_code _ 0 _ 0 after.first after.rest)
  have least (t : Segments) : t.rest.length ≤ (occurrences 0 (t.code 0)).length := by
    rw [← Segments.length_cut]
    exact Segments.length_le_cut 0 t.first t.rest
  have leastFirst := least s
  have leastAfter := least after
  rw [restore_code_eq_ok_iff _ (by rw [List.length_append, Segments.length_append, each, others]),
    List.length_append, found, filled]
  constructor
  · rintro ⟨⟨exact, _⟩, text⟩
    exact ⟨_, _, (restore_code_eq_ok_iff s each _).2 ⟨⟨by omega, by omega⟩, rfl⟩,
      (restore_code_eq_ok_iff after others _).2 ⟨⟨by omega, by omega⟩, rfl⟩, text⟩
  · rintro ⟨x, y, first, second, text⟩
    obtain ⟨⟨exactFirst, _⟩, rfl⟩ := (restore_code_eq_ok_iff s each x).1 first
    obtain ⟨⟨exactSecond, _⟩, rfl⟩ := (restore_code_eq_ok_iff after others y).1 second
    exact ⟨⟨by omega, bound⟩, text⟩

/-- A space before a text stays before it. -/
theorem restore_space (code : List Char) (comments : List Comment) :
    restore (' ' :: code) comments = (restore code comments).map (' ' :: ·) := by
  have none : first? (' ' :: code) = none := rfl
  have pieces : cut (' ' :: code) = (cut code).cons ' ' := cut_skip none
  rw [restore, pieces, restore]
  by_cases order : (cut code).tail.map (fun piece => index? piece.1) =
      (List.range comments.length).map some
  · rw [if_pos order]
    exact if_pos order
  · rw [if_neg order]
    exact if_neg order

end ScriptTree.Placeholder
